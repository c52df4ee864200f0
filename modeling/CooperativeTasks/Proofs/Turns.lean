import CooperativeTasks.Proofs.Operations
import CooperativeTasks.Proofs.Watching

set_option autoImplicit false

/-! What is kept by turns of the queue, and with that by everything an interpreter does.

A turn takes a task out of the queue, lets it do a step and puts it back or drops it. All of
that is told here in terms of schedulers: whoever wants an invariant kept has to say what holds
while a task is in the hands of a turn, and what holds while its statement is running. -/

namespace CooperativeTasks

variable {α β ι : Type}

/-! ### Schedulers alike -/

/-- Two schedulers that differ at most in what has nothing to do with how far tasks have come
and with where they are. -/
structure Scheduler.Alike (first second : Scheduler) : Prop where
  queue : second.queue = first.queue
  ids : second.ids = first.ids
  active : second.active = first.active
  tasks : second.tasks.length = first.tasks.length
  progress : ∀ id, second.progress? id = first.progress? id

namespace Scheduler.Alike

theorem refl (scheduler : Scheduler) : Alike scheduler scheduler :=
  ⟨rfl, rfl, rfl, rfl, fun _ => rfl⟩

theorem symm {first second : Scheduler} (alike : Alike first second) : Alike second first :=
  ⟨alike.queue.symm, alike.ids.symm, alike.active.symm, alike.tasks.symm,
    fun id => (alike.progress id).symm⟩

theorem trans {first second third : Scheduler} (left : Alike first second)
    (right : Alike second third) : Alike first third :=
  ⟨right.queue.trans left.queue, right.ids.trans left.ids, right.active.trans left.active,
    right.tasks.trans left.tasks, fun id => (right.progress id).trans (left.progress id)⟩

theorem modifyTask {change : Task → Task} (keeps : ∀ task, (change task).progress = task.progress)
    (id : TaskId) (scheduler : Scheduler) : Alike scheduler (scheduler.modifyTask id change) :=
  ⟨rfl, rfl, rfl, List.length_modify .., fun other =>
    Scheduler.progress?_modifyTask keeps id other scheduler⟩

theorem countWith (change : Statistics → Statistics) (scheduler : Scheduler) :
    Alike scheduler (scheduler.countWith change) :=
  ⟨rfl, rfl, rfl, rfl, fun _ => rfl⟩

theorem ofPublished {before after : Session} (published : before.Published after) :
    Alike before.scheduler after.scheduler := by
  refine ⟨?_, ?_, ?_, published.tasks, published.progress⟩
  · rw [published.scheduler]
  · rw [published.scheduler]
  · rw [published.scheduler]

end Scheduler.Alike

theorem Move.alike {change : Session → Session} (moves : Move change) (session : Session) :
    session.scheduler.Alike (change session).scheduler := by
  cases moves with
  | mark id marks => exact .modifyTask marks.progress id session.scheduler
  | countPause =>
      exact Scheduler.Alike.countWith
        (fun statistics => { statistics with idleBackoffs := statistics.idleBackoffs + 1 })
        session.scheduler
  | _ => exact .refl session.scheduler

def Scheduler.Unfinished (id : TaskId) (scheduler : Scheduler) : Prop :=
  ∃ task, scheduler.task? id = some task ∧ task.isFinished = false

namespace Scheduler

theorem unfinished_iff (id : TaskId) (scheduler : Scheduler) :
    scheduler.Unfinished id ↔
      ∃ progress, scheduler.progress? id = some progress ∧ progress.isFinished = false := by
  unfold Unfinished progress?
  cases scheduler.task? id with
  | none => simp
  | some task => simp [Task.progress]

theorem Alike.unfinished {first second : Scheduler} (alike : Alike first second) (id : TaskId) :
    second.Unfinished id ↔ first.Unfinished id := by
  rw [unfinished_iff, unfinished_iff, alike.progress id]

theorem unfinished_modifyTask {id : TaskId} {change : Task → Task} {scheduler : Scheduler}
    (keeps : ∀ task, (change task).isFinished = task.isFinished) :
    (scheduler.modifyTask id change).Unfinished id ↔ scheduler.Unfinished id := by
  unfold Unfinished
  rw [task?_modifyTask_self]
  cases scheduler.task? id with
  | none => simp
  | some task => simp [keeps]

theorem unfinished_modifyTask_of_ne {id other : TaskId} (different : other ≠ id)
    (change : Task → Task) (scheduler : Scheduler) :
    (scheduler.modifyTask id change).Unfinished other ↔ scheduler.Unfinished other := by
  unfold Unfinished
  rw [task?_modifyTask_of_ne different]

theorem unfinished_modifyTask_iff {change : Task → Task}
    (keeps : ∀ task, (change task).isFinished = task.isFinished) (id other : TaskId)
    (scheduler : Scheduler) :
    (scheduler.modifyTask id change).Unfinished other ↔ scheduler.Unfinished other := by
  by_cases same : other = id
  · subst other
    exact unfinished_modifyTask keeps
  · exact unfinished_modifyTask_of_ne same change scheduler

theorem not_unfinished_complete (id : TaskId) {change : Task → Task}
    (completes : ∀ task, (change task).isFinished = true) (scheduler : Scheduler) :
    ¬ (scheduler.modifyTask id change).Unfinished id := by
  rintro ⟨task, found, unfinished⟩
  rw [task?_modifyTask_self] at found
  obtain ⟨before, _, rfl⟩ := Option.map_eq_some_iff.mp found
  rw [completes before] at unfinished
  cases unfinished

theorem dequeue?_eq_some {scheduler : Scheduler} {id : TaskId} {remaining : Scheduler}
    (front : scheduler.dequeue? = some (id, remaining)) :
    ∃ rest, scheduler.queue.ids = id :: rest ∧ remaining = { scheduler with queue := ⟨rest⟩ } := by
  cases ids : scheduler.queue.ids with
  | nil =>
      rw [dequeue?_nil ids] at front
      cases front
  | cons first rest =>
      rw [dequeue?_cons ids] at front
      cases front
      exact ⟨rest, rfl, rfl⟩

def announced (id : TaskId) (scheduler : Scheduler) : Scheduler :=
  (scheduler.modifyTask id Interpreter.stepCounted).countWith fun statistics =>
    { statistics with stepsExecuted := statistics.stepsExecuted + 1 }

def entered (id : TaskId) (scheduler : Scheduler) : Scheduler :=
  { scheduler.announced id with active := id :: scheduler.active }

/-- The scheduler after that statement has faulted, out of the one that it left. -/
def abandoned (left : Scheduler) : Scheduler := { left with active := left.active.tail }

/-- The next step of the task comes to executing a statement. -/
structure Ready (id : TaskId) (task : Task) (scheduler : Scheduler) : Prop where
  found : scheduler.task? id = some task
  unfinished : task.isFinished = false
  present : task.counter < task.statements.length

end Scheduler

namespace Interpreter

theorem TaskEnding.isFinished {task : Task} {status : StepStatus} {change : Task → Task}
    (ending : TaskEnding task status change) :
    (status = .done ∧ ∀ current, (change current).isFinished = true) ∨
      status ≠ .done ∧ ∀ current, (change current).isFinished = current.isFinished := by
  cases ending with
  | advanced scope positions more => exact .inr ⟨by decide, fun _ => rfl⟩
  | exhausted scope positions => exact .inl ⟨rfl, fun _ => rfl⟩
  | suspended scope positions fromLoop => exact .inr ⟨by decide, fun _ => rfl⟩
  | returned scope value => exact .inl ⟨rfl, fun _ => rfl⟩

end Interpreter

namespace Watch.Leads

variable {watch : Watch} {pre : Scheduler → Prop}
  (respects : ∀ {before after : Scheduler}, before.Alike after → pre before →
    pre after ∧ watch.Along before after)

include respects

theorem alike {change : Scheduler → Scheduler} {next next' : Unit → Act β}
    {post : Except Signal β → Scheduler → Prop}
    (changes : ∀ scheduler : Scheduler, scheduler.Alike (change scheduler))
    (tail : watch.Leads pre (next ()) (next' ()) post) :
    watch.Leads pre (Act.updateScheduler change >>= next)
      (Act.updateScheduler change >>= next') post :=
  .updateScheduler pre (fun scheduler holds => respects (changes scheduler) holds) tail

theorem finalize (here : ∀ session, pre session.scheduler → watch.Moment session) (id : TaskId) :
    watch.Leads pre (Act.finalize id) (Act.finalize id)
      fun result scheduler => result = .ok () ∧ pre scheduler where
  goesOn := Act.Extends.changing.finalize id
  along session holds := by
    obtain ⟨after, published, ended⟩ := Act.Publishes.finalize id session
    have reached : (Act.finalize id session).session = after := by
      rcases ended with ended | ended <;> rw [ended] <;> rfl
    rw [reached]
    exact (respects (.ofPublished published) holds).2
  ended session holds result run := by
    obtain ⟨after, published, ended | ended⟩ := Act.Publishes.finalize id session
    · rw [ended] at run ⊢
      cases run
      exact ⟨rfl, (respects (.ofPublished published) holds).1⟩
    · rw [ended] at run
      cases run
  sees session moment holds run := by
    obtain ⟨after, published, ended | ended⟩ := Act.Publishes.finalize id session
    · rw [ended] at run
      cases run
    · rw [ended] at run
      cases run
      have still := (respects (.ofPublished published) holds).1
      refine watch.now (here moment still) ?_
      obtain ⟨later, published', ended'⟩ := Act.Publishes.finalize id (session.granted watch.extra)
      have reached : (Act.finalize id (session.granted watch.extra)).session = later := by
        rcases ended' with ended' | ended' <;> rw [ended'] <;> rfl
      have continued := Scheduler.Alike.ofPublished published'
      rw [Session.granted_scheduler] at continued
      rw [reached]
      exact (respects ((Scheduler.Alike.ofPublished published).symm.trans continued) still).2

end Watch.Leads

/-! ### Steps -/

/-- What is to be known of a statement that is run by a step: `outer` and `popped` are what is
watched and known around it, `inner` and `running` while it runs. -/
structure Watch.Executes (outer inner : Watch) (popped resting running : Scheduler → Prop)
    (id : TaskId) (task : Task) (start : Scheduler) : Prop where
  grants : inner.extra = outer.extra
  excuses : inner.excuses → outer.excuses
  announced : outer.Along start (start.announced id)
  announces : ∀ (session : Session) (reading : Nat) {α : Type} (outcome : Outcome α),
    session.scheduler = start.announced id →
    session.journal.head? = some (.stepped id task.counter reading) →
    outer.Along start outcome.session.scheduler → outer.Sees session outcome
  enters : running (start.entered id)
  lives : ∀ left, running left → inner.Along (start.entered id) left → left.Unfinished id
  settles : ∀ left, running left → inner.Along (start.entered id) left →
    ∀ status change, Interpreter.TaskEnding task status change →
      popped (left.settled id change) ∧ outer.Along start (left.settled id change)
  fails : ∀ left, inner.Along (start.entered id) left →
    outer.Along start left.abandoned ∧ (running left → outer.excuses ∨ resting left.abandoned)
  halts : ∀ left, inner.Along (start.entered id) left → outer.Along start left
  seesSettled : ∀ (moment after : Session) (outcome : Outcome Unit),
    running outcome.session.scheduler →
    inner.Along (start.entered id) outcome.session.scheduler → inner.Sees moment outcome →
    (∀ cause, outcome ≠ .raised (.fault cause) outcome.session) →
    ∀ status change, Interpreter.TaskEnding task status change →
      after.scheduler = outcome.session.scheduler.settled id change →
        outer.Sees moment (.done status after)
  seesFailed : ∀ (moment left after : Session) (signal : Signal),
    inner.Sees moment (.raised signal left : Outcome Unit) →
    after.scheduler = left.scheduler.abandoned → after.budget = left.budget →
      outer.Sees moment (.raised (.fault signal.toFault) after : Outcome StepStatus)
  seesHalted : ∀ (moment left : Session), inner.Sees moment (.halted left : Outcome Unit) →
    outer.Sees moment (.halted left : Outcome StepStatus)

/-- What is to be known of steps. A task that is stepped is `popped`, whoever has taken it. -/
structure Watch.Steps (watch : ι → Watch) (invariant : ι → Scheduler → Prop)
    (popped : ι → TaskId → Scheduler → Prop) : Prop where
  alike : ∀ case id {before after : Scheduler}, before.Alike after → popped case id before →
    popped case id after ∧ (watch case).Along before after
  waiting : ∀ case id awaited (session : Session), popped case id session.scheduler →
    session.scheduler.Unfinished id →
    session.journal.head? = some (.stillWaiting id awaited) → (watch case).Moment session
  ended : ∀ case id (session : Session), popped case id session.scheduler →
    ¬ session.scheduler.Unfinished id → (watch case).Moment session
  start : ∀ case id scheduler, popped case id scheduler → scheduler.Unfinished id →
    popped case id (scheduler.modifyTask id Task.start) ∧
      (watch case).Along scheduler (scheduler.modifyTask id Task.start)
  complete : ∀ case id scheduler, popped case id scheduler → scheduler.Unfinished id →
    ∀ payload, popped case id (scheduler.modifyTask id (Task.complete payload)) ∧
      (watch case).Along scheduler (scheduler.modifyTask id (Task.complete payload))
  executes : ∀ case id task scheduler, popped case id scheduler → scheduler.Ready id task →
    ∃ inside, Watch.Executes (watch case) (watch inside) (popped case id) (invariant case)
      (invariant inside) id task scheduler

theorem Watch.Kept.unfaulted {watch : Watch} {invariant : Scheduler → Prop} {outcome : Outcome Unit}
    (kept : ∀ result, outcome.result? = some result →
      watch.Kept invariant result outcome.session.scheduler)
    (faultless : ∀ cause, outcome ≠ .raised (.fault cause) outcome.session)
    (unhalted : ∀ moment, outcome ≠ .halted moment) : invariant outcome.session.scheduler := by
  cases outcome with
  | done value left => exact (kept (.ok value) rfl).ok
  | raised signal left =>
      rcases kept (.error signal) rfl with ⟨_, cause, fault⟩ | holds
      · cases fault
        exact absurd rfl (faultless cause)
      · exact holds
  | halted moment => exact absurd rfl (unhalted moment)

/-- How a step leaves the task that it was given. -/
def Watch.Stepped (watch : Watch) (popped resting : Scheduler → Prop) (id : TaskId) :
    Except Signal StepStatus → Scheduler → Prop
  | .ok .done, scheduler => popped scheduler ∧ ¬ scheduler.Unfinished id
  | .ok .pending, scheduler => popped scheduler ∧ scheduler.Unfinished id
  | .ok .blocked, scheduler => popped scheduler ∧ scheduler.Unfinished id
  | .error signal, scheduler => watch.Kept resting (.error signal : Except Signal Unit) scheduler

namespace Watch.Executes

variable {outer inner : Watch} {popped resting running : Scheduler → Prop} {id : TaskId}
  {task : Task} {start : Scheduler}
  (executes : Watch.Executes outer inner popped resting running id task start)

include executes

theorem stepped {status : StepStatus} {change : Task → Task}
    (ending : Interpreter.TaskEnding task status change) {left : Scheduler} (runs : running left)
    (along : inner.Along (start.entered id) left) :
    outer.Stepped popped resting id (.ok status) (left.settled id change) := by
  have settled := (executes.settles left runs along status change ending).1
  rcases ending.isFinished with ⟨rfl, finishes⟩ | ⟨goesOn, keeps⟩
  · exact ⟨settled, Scheduler.not_unfinished_complete id finishes _⟩
  · have lives : (left.settled id change).Unfinished id := by
      unfold Scheduler.settled
      rw [Scheduler.unfinished_modifyTask keeps]
      exact executes.lives left runs along
    cases status with
    | done => exact absurd rfl goesOn
    | pending => exact ⟨settled, lives⟩
    | blocked => exact ⟨settled, lives⟩

theorem ended (before : Executor) {outcome : Outcome Unit}
    (along : inner.Along (start.entered id) outcome.session.scheduler)
    (kept : ∀ result, outcome.result? = some result →
      inner.Kept running result outcome.session.scheduler) :
    outer.Along start (Interpreter.stepEnding id task before outcome).session.scheduler ∧
      ∀ result, (Interpreter.stepEnding id task before outcome).result? = some result →
        outer.Stepped popped resting id result
          (Interpreter.stepEnding id task before outcome).session.scheduler := by
  rcases Interpreter.stepEnding_cases id task before outcome with
    ⟨moment, halted, ended⟩ | ⟨signal, raised, ended⟩ |
      ⟨status, change, after, ending, faultless, unhalted, ended, settled⟩
  · rw [ended]
    subst outcome
    exact ⟨executes.halts _ along, fun result impossible => nomatch impossible⟩
  · rw [ended]
    refine ⟨(executes.fails _ along).1, fun result same => ?_⟩
    cases same
    rcases kept (.error signal) (by rw [raised]; rfl) with ⟨excuses, _⟩ | runs
    · exact .inl ⟨executes.excuses excuses, _, rfl⟩
    · rcases (executes.fails _ along).2 runs with excuses | rests
      · exact .inl ⟨excuses, _, rfl⟩
      · exact .inr rests
  · rw [ended, Outcome.session, settled]
    have runs := Watch.Kept.unfaulted kept faultless unhalted
    refine ⟨(executes.settles _ runs along status change ending).2, fun result same => ?_⟩
    cases same
    exact executes.stepped ending runs along

theorem seen (before : Executor) {moment : Session} {outcome : Outcome Unit}
    (along : inner.Along (start.entered id) outcome.session.scheduler)
    (kept : ∀ result, outcome.result? = some result →
      inner.Kept running result outcome.session.scheduler)
    (sees : inner.Sees moment outcome) :
    outer.Sees moment (Interpreter.stepEnding id task before outcome) := by
  rcases Interpreter.stepEnding_cases id task before outcome with
    ⟨left, halted, ended⟩ | ⟨signal, raised, ended⟩ |
      ⟨status, change, after, ending, faultless, unhalted, ended, settled⟩
  · rw [ended]
    subst outcome
    exact executes.seesHalted moment left sees
  · rw [ended]
    rw [raised] at sees
    exact executes.seesFailed moment _ _ signal sees rfl rfl
  · rw [ended]
    have runs := Watch.Kept.unfaulted kept faultless unhalted
    exact executes.seesSettled moment after outcome runs along sees faultless status change ending
      settled

omit executes in
theorem entered_of_announced {noted : Session} (same : noted.scheduler = start.announced id) :
    (noted.enteringTask id task).scheduler = start.entered id := by
  change { noted.scheduler with active := id :: noted.scheduler.active } = _
  rw [same]
  rfl

theorem executed {short long : Interpreter} (statement : Stmt) (reading : Nat)
    (inside : inner.Keeps running (short.exec [.item task.counter] statement)
      (long.exec [.item task.counter] statement)) {session : Session}
    (starts : session.scheduler = start) :
    outer.Along start (long.executing id task statement reading session).session.scheduler ∧
      ∀ result, (long.executing id task statement reading session).result? = some result →
        outer.Stepped popped resting id result
          (long.executing id task statement reading session).session.scheduler := by
  rw [Interpreter.executing_apply]
  rcases Act.note_cases (.stepped id task.counter reading)
    (Interpreter.announcing id session) with ⟨noted, same, run⟩ | ⟨moment, same, run⟩
  · rw [Act.bind_apply, run]
    have begins : (noted.enteringTask id task).scheduler = start.entered id :=
      entered_of_announced (by rw [same.scheduler, ← starts]; rfl)
    have runs : running (noted.enteringTask id task).scheduler := by
      rw [begins]
      exact executes.enters
    have along := inside.along (noted.enteringTask id task) runs
    have kept := inside.ended (noted.enteringTask id task) runs
    rw [begins] at along
    exact executes.ended noted.executor along kept
  · rw [Act.bind_apply, run]
    have announced : moment.scheduler = start.announced id := by
      rw [same.scheduler, ← starts]
      rfl
    refine ⟨?_, fun result impossible => nomatch impossible⟩
    rw [Outcome.session, announced]
    exact executes.announced

theorem executing {short long : Interpreter} (statement : Stmt) (reading : Nat)
    (exec : ∀ path statement,
      inner.Keeps running (short.exec path statement) (long.exec path statement)) :
    outer.Leads (fun scheduler => scheduler = start) (short.executing id task statement reading)
      (long.executing id task statement reading) (outer.Stepped popped resting id) := by
  -- A step that comes to executing its statement leads on as the statement does.
  have inside := exec [.item task.counter] statement
  have goesOn (path : Path) (statement : Stmt) := (exec path statement).goesOn
  refine ⟨Act.Extends.changing.executing goesOn id task statement reading, ?_, ?_, ?_⟩
  · intro session starts
    rw [starts]
    exact (executes.executed statement reading inside starts).1
  · intro session starts
    exact (executes.executed statement reading inside starts).2
  · intro session moment starts halted
    have granted := executes.executed statement reading inside
      (show (session.granted outer.extra).scheduler = start from starts)
    have event := (Act.Extends.note (.stepped id task.counter reading)).outcome outer.extra
      (Interpreter.announcing id session)
    rw [Interpreter.executing_apply, Act.bind_apply] at halted
    rcases Act.note_cases (.stepped id task.counter reading)
      (Interpreter.announcing id session) with ⟨noted, same, run⟩ | ⟨early, same, run⟩
    · rw [run] at halted event
      have begins : (noted.enteringTask id task).scheduler = start.entered id :=
        entered_of_announced (by rw [same.scheduler, ← starts]; rfl)
      have runs : running (noted.enteringTask id task).scheduler := by
        rw [begins]
        exact executes.enters
      -- The run that goes on passes the same moment and enters the same statement.
      have continued : long.executing id task statement reading (session.granted outer.extra) =
          long.stepping id task statement (noted.granted outer.extra) := by
        have announced : Interpreter.announcing id (session.granted outer.extra) =
            (Interpreter.announcing id session).granted outer.extra := rfl
        rw [Interpreter.executing_apply, announced, Act.bind_apply, event.ofDone]
      rw [continued]
      have outcome := Interpreter.stepping_halted short halted
      have sees := inside.sees (noted.enteringTask id task) moment runs outcome
      rw [executes.grants] at sees
      have along := inside.along ((noted.enteringTask id task).granted outer.extra) runs
      have kept := inside.ended ((noted.enteringTask id task).granted outer.extra) runs
      rw [Session.granted_scheduler, begins] at along
      exact executes.seen noted.executor along kept sees
    · rw [run] at halted
      cases halted
      refine executes.announces moment reading _ ?_ ?_ granted.1
      · rw [same.scheduler, ← starts]
        rfl
      · rw [same.journal]
        rfl

end Watch.Executes

namespace Watch.Steps

variable {watch : ι → Watch} {invariant : ι → Scheduler → Prop}
  {popped : ι → TaskId → Scheduler → Prop} (steps : Watch.Steps watch invariant popped)
  {short long : Interpreter}
  (exec : ∀ case path statement,
    (watch case).Keeps (invariant case) (short.exec path statement) (long.exec path statement))

include steps

theorem completing (case : ι) (id : TaskId) (payload : Value) {next next' : Unit → Act StepStatus}
    (tail : (watch case).Leads
      (fun scheduler => popped case id scheduler ∧ ¬ scheduler.Unfinished id) (next ()) (next' ())
      ((watch case).Stepped (popped case id) (invariant case) id)) :
    (watch case).Leads (fun scheduler => popped case id scheduler ∧ scheduler.Unfinished id)
      (Act.completeTask id payload >>= next) (Act.completeTask id payload >>= next')
      ((watch case).Stepped (popped case id) (invariant case) id) := by
  refine Leads.updateScheduler _ ?_ tail
  intro scheduler held
  obtain ⟨completed, along⟩ := steps.complete case id scheduler held.1 held.2 payload
  exact ⟨⟨completed, Scheduler.not_unfinished_complete id (fun _ => rfl) scheduler⟩, along⟩

theorem taken (case : ι) (id : TaskId) {before after : Scheduler} (alike : before.Alike after)
    (held : popped case id before ∧ before.Unfinished id) :
    (popped case id after ∧ after.Unfinished id) ∧ (watch case).Along before after := by
  obtain ⟨still, along⟩ := steps.alike case id alike held.1
  exact ⟨⟨still, (alike.unfinished id).mpr held.2⟩, along⟩

theorem finished (case : ι) (id : TaskId) {before after : Scheduler} (alike : before.Alike after)
    (held : popped case id before ∧ ¬ before.Unfinished id) :
    (popped case id after ∧ ¬ after.Unfinished id) ∧ (watch case).Along before after := by
  obtain ⟨still, along⟩ := steps.alike case id alike held.1
  exact ⟨⟨still, fun unfinished => held.2 ((alike.unfinished id).mp unfinished)⟩, along⟩

theorem starting (case : ι) (id : TaskId) {next next' : Unit → Act β}
    {post : Except Signal β → Scheduler → Prop}
    (tail : (watch case).Leads (fun scheduler => popped case id scheduler ∧ scheduler.Unfinished id)
      (next ()) (next' ()) post) :
    (watch case).Leads (fun scheduler => popped case id scheduler ∧ scheduler.Unfinished id)
      (Act.modifyTask id Task.start >>= next) (Act.modifyTask id Task.start >>= next') post := by
  have keeps (task : Task) : task.start.isFinished = task.isFinished := by
    unfold Task.start
    split <;> rfl
  refine Leads.updateScheduler _ ?_ tail
  intro scheduler held
  obtain ⟨started, along⟩ := steps.start case id scheduler held.1 held.2
  exact ⟨⟨started, (Scheduler.unfinished_modifyTask keeps).mpr held.2⟩, along⟩

omit steps in
theorem leaving (case : ι) (id : TaskId) :
    (watch case).Leads (fun scheduler => popped case id scheduler ∧ ¬ scheduler.Unfinished id)
      (Pure.pure .done) (Pure.pure .done)
      ((watch case).Stepped (popped case id) (invariant case) id) :=
  Leads.pure fun _ held => held

omit steps in
theorem impossible {case : ι} {id : TaskId} {current : Scheduler}
    (gone : current.task? id = none) {post : Except Signal StepStatus → Scheduler → Prop} :
    (watch case).Leads
      (fun scheduler => scheduler = current ∧ popped case id scheduler ∧ scheduler.Unfinished id)
      (Pure.pure .done) (Pure.pure .done) post := by
  refine Leads.pure ?_
  rintro scheduler ⟨rfl, _, task, found, _⟩
  rw [gone] at found
  cases found

include exec

theorem executing (case : ι) (id : TaskId) {task : Task} {statement : Stmt} {current : Scheduler}
    (reading : Nat) (found : current.task? id = some task)
    (present : task.statements[task.counter]? = some statement) :
    (watch case).Leads
      (fun scheduler => scheduler = current ∧ popped case id scheduler ∧ scheduler.Unfinished id)
      (short.executing id task statement reading) (long.executing id task statement reading)
      ((watch case).Stepped (popped case id) (invariant case) id) := by
  have goesOn (path : Path) (statement : Stmt) := (exec case path statement).goesOn
  refine Leads.assuming (Act.Extends.changing.executing goesOn id task statement reading) ?_
  rintro scheduler ⟨rfl, held, other, same, unfinished⟩
  rw [found] at same
  cases same
  have within : task.counter < task.statements.length := (List.getElem?_eq_some_iff.mp present).1
  obtain ⟨inside, executes⟩ := steps.executes case id task scheduler held ⟨found, unfinished, within⟩
  refine (executes.executing statement reading (exec inside)).weaken ?_ fun _ _ ended => ended
  intro start begins
  exact begins.1

theorem runStatement (case : ι) (id : TaskId) (reading : Nat) :
    (watch case).Leads (fun scheduler => popped case id scheduler ∧ scheduler.Unfinished id)
      (short.runStatement id reading) (long.runStatement id reading)
      ((watch case).Stepped (popped case id) (invariant case) id) := by
  rw [Interpreter.runStatement_eq, Interpreter.runStatement_eq]
  refine steps.starting case id (Leads.scheduler fun current => ?_)
  cases found : current.task? id with
  | none => exact impossible found
  | some task =>
      dsimp only
      cases present : task.statements[task.counter]? with
      | none =>
          refine (steps.completing case id .void (leaving case id)).weaken ?_
            fun _ _ ended => ended
          intro scheduler held
          exact held.2
      | some statement => exact steps.executing exec case id reading found present

theorem stepReady (case : ι) (id : TaskId) :
    (watch case).Leads (fun scheduler => popped case id scheduler ∧ scheduler.Unfinished id)
      (short.stepReady id) (long.stepReady id)
      ((watch case).Stepped (popped case id) (invariant case) id) := by
  refine Leads.readClock fun now => Leads.scheduler fun current => ?_
  cases found : current.task? id with
  | none => exact impossible found
  | some task =>
      refine Leads.weaken ?_ (fun _ held => And.right held) fun _ _ ended => ended
      dsimp only
      by_cases late : task.deadline.any (· ≤ now) = true
      · rw [if_pos late, if_pos late]
        refine steps.completing case id _ (.alike (steps.finished case id) (.countWith _) ?_)
        refine Leads.note ?_ (leaving case id)
        intro session held _
        exact steps.ended case id session held.1 held.2
      · rw [if_neg late, if_neg late]
        by_cases early : task.wakeAt.any (now < ·) = true
        · rw [if_pos early, if_pos early]
          refine .alike (steps.taken case id) (.countWith _) ?_
          exact Leads.pure fun _ held => held
        · rw [if_neg early, if_neg early]
          have woken (task : Task) : (Interpreter.woken task).progress = task.progress := rfl
          refine .alike (steps.taken case id) (.modifyTask woken id) ?_
          cases body : task.body with
          | some function => exact steps.runStatement exec case id now
          | none =>
              refine steps.completing case id .void ?_
              by_cases timer : task.wakeAt.isSome = true
              · rw [if_pos timer]
                refine Leads.note ?_ (leaving case id)
                intro session held _
                exact steps.ended case id session held.1 held.2
              · rw [if_neg timer]
                exact leaving case id

theorem step (case : ι) (id : TaskId) :
    (watch case).Leads (popped case id) (short.step id) (long.step id)
      ((watch case).Stepped (popped case id) (invariant case) id) := by
  refine Leads.scheduler fun current => ?_
  cases found : current.task? id with
  | none =>
      refine (leaving case id).weaken ?_ fun _ _ ended => ended
      rintro scheduler ⟨rfl, held⟩
      refine ⟨held, ?_⟩
      rintro ⟨task, same, _⟩
      rw [found] at same
      cases same
  | some task =>
      dsimp only
      cases finished : task.isFinished with
      | true =>
          rw [if_pos rfl, if_pos rfl]
          refine (leaving case id).weaken ?_ fun _ _ ended => ended
          rintro scheduler ⟨rfl, held⟩
          refine ⟨held, ?_⟩
          rintro ⟨other, same, unfinished⟩
          rw [found] at same
          cases same
          rw [finished] at unfinished
          cases unfinished
      | false =>
          rw [if_neg Bool.false_ne_true, if_neg Bool.false_ne_true]
          have taken (scheduler : Scheduler)
              (held : scheduler = current ∧ popped case id scheduler) :
              popped case id scheduler ∧ scheduler.Unfinished id := by
            obtain ⟨rfl, held⟩ := held
            exact ⟨held, task, found, finished⟩
          cases mark : task.waitingFor with
          | none => exact (steps.stepReady exec case id).weaken taken fun _ _ ended => ended
          | some awaited =>
              refine Leads.weaken ?_ taken fun _ _ ended => ended
              dsimp only
              by_cases ended : current.isFinished awaited = true
              · rw [if_pos ended, if_pos ended]
                exact .alike (steps.taken case id) (.modifyTask (TaskMark.wait none).progress id)
                  (steps.stepReady exec case id)
              · rw [if_neg ended, if_neg ended]
                refine .alike (steps.taken case id) (.countWith _) (Leads.note ?_ ?_)
                · intro session held event
                  exact steps.waiting case id awaited session held.1 held.2 event
                · exact Leads.pure fun _ held => held

end Watch.Steps

/-! ### Turns of the queue -/

/-- An invariant, in all its cases, that is respected by the pieces that actions are made of and
by turns of the queue. -/
structure Watch.Upholds (watch : ι → Watch) (invariant : ι → Scheduler → Prop)
    (popped : ι → TaskId → Scheduler → Prop) : Prop where
  steps : Watch.Steps watch invariant popped
  moment : ∀ case session, invariant case session.scheduler → (watch case).Moment session
  alike : ∀ case {before after : Scheduler}, before.Alike after → invariant case before →
    invariant case after ∧ (watch case).Along before after
  registers : ∀ case {task : Task}, task.Fresh → ∀ scheduler, invariant case scheduler →
    invariant case (scheduler.register task).2 ∧
      (watch case).Along scheduler (scheduler.register task).2
  pop : ∀ case {scheduler : Scheduler} {id remaining}, invariant case scheduler →
    scheduler.dequeue? = some (id, remaining) →
      (watch case).Along scheduler remaining ∧
      ∀ session : Session, session.scheduler = remaining →
        session.journal.head? = some (.dequeued id) → (watch case).Moment session
  take : ∀ case {scheduler : Scheduler} {id remaining}, invariant case scheduler →
    scheduler.dequeue? = some (id, remaining) → remaining.isActive id = false →
      popped case id remaining
  skip : ∀ case {scheduler : Scheduler} {id remaining}, invariant case scheduler →
    scheduler.dequeue? = some (id, remaining) → remaining.isActive id = true →
      invariant case (remaining.enqueue id) ∧
        (watch case).Along remaining (remaining.enqueue id)
  push : ∀ case id scheduler, popped case id scheduler → scheduler.Unfinished id →
    invariant case (scheduler.enqueue id) ∧ (watch case).Along scheduler (scheduler.enqueue id)
  drop : ∀ case id scheduler, popped case id scheduler → ¬ scheduler.Unfinished id →
    invariant case scheduler

namespace Watch.Upholds

variable {watch : ι → Watch} {invariant : ι → Scheduler → Prop}
  {popped : ι → TaskId → Scheduler → Prop} (upholds : Watch.Upholds watch invariant popped)

include upholds

theorem requeue (case : ι) (id : TaskId) {pre : Scheduler → Prop} {next next' : Unit → Act β}
    {post : Except Signal β → Scheduler → Prop}
    (pushes : ∀ scheduler, pre scheduler →
      invariant case (scheduler.enqueue id) ∧ (watch case).Along scheduler (scheduler.enqueue id))
    (tail : (watch case).Leads (invariant case) (next ()) (next' ()) post) :
    (watch case).Leads pre (Interpreter.requeue id >>= next) (Interpreter.requeue id >>= next')
      post := by
  have whole : (watch case).Leads pre (Interpreter.requeue id) (Interpreter.requeue id)
      fun result scheduler => result = .ok () ∧ invariant case scheduler := by
    refine Leads.updateScheduler (invariant case) pushes (Leads.noting ?_)
    intro session holds _
    exact upholds.moment case session holds
  refine Leads.bind whole (fun _ => ?_) ?_
  · exact tail.weaken (fun _ holds => holds.2) fun _ _ ended => ended
  · intro signal scheduler impossible
    exact nomatch impossible.1

theorem cycle {short long : Interpreter}
    (exec : ∀ case path statement,
      (watch case).Keeps (invariant case) (short.exec path statement) (long.exec path statement))
    (case : ι) : (watch case).Keeps (invariant case) short.cycle long.cycle := by
  refine Leads.scheduler fun current => ?_
  cases front : current.dequeue? with
  | none =>
      refine Leads.pure ?_
      intro scheduler held
      exact .inr held.2
  | some entry =>
      obtain ⟨id, remaining⟩ := entry
      refine Leads.updateScheduler
        (fun scheduler => scheduler = remaining ∧ invariant case current) ?_ ?_
      · rintro scheduler ⟨rfl, holds⟩
        exact ⟨⟨rfl, holds⟩, (upholds.pop case holds front).1⟩
      refine Leads.note ?_ ?_
      · intro session held event
        exact (upholds.pop case held.2 front).2 session held.1 event
      cases running : remaining.isActive id with
      | true =>
          rw [if_pos rfl, if_pos rfl]
          refine upholds.requeue case id ?_ (Leads.scheduler fun queued => ?_)
          · rintro scheduler ⟨rfl, holds⟩
            exact upholds.skip case holds front running
          · split
            · exact Leads.pure fun _ held => .inr held.2
            · exact Leads.pure fun _ held => .inr held.2
      | false =>
          rw [if_neg Bool.false_ne_true, if_neg Bool.false_ne_true]
          -- The invariant is given up for the time of the step and holds again once the task is put
          -- back or dropped.
          have stepping := upholds.steps.step exec case id
          refine Leads.bind (stepping.weaken ?_ fun _ _ ended => ended) ?_ ?_
          · rintro scheduler ⟨rfl, holds⟩
            exact upholds.take case holds front running
          · intro status
            cases status with
            | done =>
                have finalizing := Leads.finalize (upholds.steps.finished case id)
                  (fun session held => upholds.steps.ended case id session held.1 held.2) id
                refine Leads.bind finalizing (fun _ => ?_) ?_
                · refine Leads.pure ?_
                  rintro scheduler ⟨_, held⟩
                  exact .inr (upholds.drop case id scheduler held.1 held.2)
                · intro signal scheduler impossible
                  exact nomatch impossible.1
            | pending =>
                refine upholds.requeue case id ?_ (Leads.pure fun _ holds => .inr holds)
                intro scheduler held
                exact upholds.push case id scheduler held.1 held.2
            | blocked =>
                refine upholds.requeue case id ?_ (Leads.pure fun _ holds => .inr holds)
                intro scheduler held
                exact upholds.push case id scheduler held.1 held.2
          · intro signal scheduler kept
            exact Kept.error kept

theorem finalize (case : ι) (id : TaskId) :
    (watch case).Keeps (invariant case) (Act.finalize id) (Act.finalize id) :=
  (Leads.finalize (upholds.alike case) (upholds.moment case) id).weaken (fun _ holds => holds)
    fun _ _ ended => .inr ended.2

theorem register (case : ι) {task : Task} (fresh : task.Fresh) :
    (watch case).Keeps (invariant case) (Act.register task) (Act.register task) := by
  rw [Act.register_eq]
  refine .bind (.read fun _ _ => rfl) fun id => ?_
  refine .bind (.update (fun _ _ => rfl) ?_) fun _ => ?_
  · intro session holds
    exact upholds.registers case fresh session.scheduler holds
  refine .bind (.read fun _ _ => rfl) fun registered => ?_
  exact Leads.note (fun session holds _ => upholds.moment case session holds) (Keeps.pure id)

/-! ### Everything an interpreter does -/

theorem keeps {layer : Layer} {short long : Act α} (deepens : Deepens layer short long) :
    ∀ case, (watch case).Keeps (invariant case) short long := by
  induction deepens with
  | halt => exact fun case => Leads.halt (upholds.moment case)
  | cut _ whole => exact fun case => Leads.cut (whole case) (upholds.moment case)
  | pure value => exact fun _ => .pure value
  | fail cause => exact fun _ => .raise _
  | raise signal => exact fun _ => .raise signal
  | moment =>
      intro case
      exact (Leads.moment (upholds.moment case)).weaken (fun _ holds => holds)
        fun _ _ ended => .inr ended.2
  | read blind => exact fun _ => .read blind
  | move moves =>
      exact fun case => .update moves.blind fun session => upholds.alike case (moves.alike session)
  | positions change =>
      intro case
      exact .update (fun _ _ => rfl) fun _ holds => ⟨holds, (watch case).refl _⟩
  | register fresh => exact fun case => upholds.register case fresh
  | finalize id => exact fun case => upholds.finalize case id
  | bind _ _ head tail => exact fun case => .bind (head case) fun value => tail value case
  | attempt _ _ rethrows inner tail =>
      exact fun case => .attempt (inner case) (fun result => tail result case) fun cause =>
        (rethrows cause).relays
  | lift _ inner => exact inner
  | calling name _ _ inner =>
      exact fun case => .calling (upholds.moment case) name _ (inner case)
  | awaiting id _ inner =>
      intro case
      refine .awaiting (upholds.moment case) ?_ id (inner case)
      intro waiter awaited scheduler holds
      exact upholds.alike case (.modifyTask (TaskMark.wait awaited).progress waiter scheduler) holds
  | cycle _ exec => exact upholds.cycle fun case path statement => exec path statement case

/-- What holds of everything an interpreter does holds of all that can be asked of it, provided
that it also holds of steps past the queue, if any are asked for. -/
theorem request {shallow deep : Nat} (deeper : shallow ≤ deep) (operation : Operation) (case : ι)
    (steps : ∀ id, operation = .step id →
      (watch case).Keeps (invariant case) ((interpreter shallow).step id)
        ((interpreter deep).step id)) :
    (watch case).Keeps (invariant case) ((interpreter shallow).request operation)
      ((interpreter deep).request operation) := by
  rcases (interpreter_deepens deeper).request operation with
    ⟨program, rfl⟩ | ⟨id, rfl⟩ | ⟨id, site, rfl⟩ | deepens
  · have noting : Deepens .statement
        (do
          let loaded ← Act.executor
          Act.note (.programLoaded loaded.functions.length loaded.structs.length))
        (do
          let loaded ← Act.executor
          Act.note (.programLoaded loaded.functions.length loaded.structs.length)) :=
      .bind .executor fun _ => .note _
    exact Leads.updateExecutor (upholds.keeps noting case)
  · exact .bind (steps id rfl) fun _ => .pure ()
  · refine .update (fun _ _ => rfl) fun session holds => upholds.alike case ?_ holds
    apply Scheduler.Alike.modifyTask
    intro task
    rfl
  · exact upholds.keeps deepens case

end Watch.Upholds

end CooperativeTasks
